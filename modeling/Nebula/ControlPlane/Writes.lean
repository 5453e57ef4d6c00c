import Nebula.ControlPlane.Machine

/-!
# What a planned step writes

The inversion of `plan` on the tables, made once. Half of the events only read; the others write
through one of the functions of the service, the revocation, the reconciliation or the usage
loop.
-/

namespace Nebula.ControlPlane

open Schema

inductive Written (state : State) : Event → Tables → Prop
  | untouched (event : Event) : Written state event state.tables
  | administered (change : AdminChange) :
    Written state (.admin change) (applyAdmin state.tables change)
  | lookedUp (task : TaskId) (planned : Plan)
    (success : connectLookup state task = some planned) :
    Written state (.connectLookup task) planned.tables
  | connected (task : TaskId) (planned : Plan)
    (success : connectCommit state task = some planned) :
    Written state (.connectCommit task) planned.tables
  | disconnected (request : DisconnectRequest) (allowed : Bool) (now : Instant) (planned : Plan)
    (success : disconnect state request allowed now = some planned) :
    Written state (.disconnect request allowed now) planned.tables
  | finalized (task : TaskId) (now : Instant) (call : ServiceCall) (applied : Option Nat)
    (found : state.task task = some (.finalizing call applied)) :
    Written state (.finalize task now)
      ((finalizeCall state.tables call applied now).getD state.tables)
  | deviceRevoked (deviceId : Uuid) (now : Instant) :
    Written state (.revokeDevice deviceId now)
      { revokeDeviceCredentials deviceId now state.tables with
        devices := setDeviceStates (fun device => device.id == deviceId) state.tables.devices }
  | userDisabled (userId : Uuid) (now : Instant) :
    Written state (.disableUser userId now)
      ((revokeAccountCredentials userId now state.tables).writeUser userId fun user =>
        { user with state := .disabled })
  | accountErased (userId : Uuid) (now : Instant) :
    Written state (.eraseAccount userId now)
      { (revokeAccountCredentials userId now state.tables).writeUser userId fun user =>
          { user with state := .disabled } with
        devices := setDeviceStates (fun device => device.userId == userId) state.tables.devices
        permissions := state.tables.permissions.filter fun permission =>
          permission.userId != userId
        assignments := state.tables.assignments.filter fun assignment =>
          assignment.userId != userId }
  -- The logout, the lapsed grants and the orphans of a pass.
  | marked (event : Event) (selected : Row → Bool) (now : Instant) :
    Written state event (markRevoking selected now state.tables)
  | recovered (task : TaskId) (now : Instant) (check : RowCheck) (observed : Option Nat)
    (found : state.task task = some (.recovering check observed)) :
    Written state (.recover task now) (recoverIfStuck state.tables check observed now)
  | repairBegun (task : TaskId) (now : Instant) (planned : Plan)
    (success : repairBegin state task now = some planned) :
    Written state (.repairBegin task now) planned.tables
  | repaired (task : TaskId) (check : RowCheck) (now : Instant) (succeeded : Bool)
    (applied : Option Nat)
    (found : state.task task = some (.repairFinalizing check now succeeded applied)) :
    Written state (.repairFinalize task)
      (finalizeRepair state.tables check succeeded applied now)
  | recorded (samples : List UsageSample) :
    Written state (.recordUsage samples) (recordUsage state samples).tables
  | forgotten (gone : List (Protocol × Identity)) (collectedAt : Instant) :
    Written state (.forgetReadings gone collectedAt)
      (forgetReadings state gone collectedAt).tables
  | spent (task sweep : TaskId) (now : Instant) (userId : Uuid) (account : AccountUsage)
    (found : state.task task = some (.cuttingOff sweep userId account)) :
    Written state (.cutOff task now) (cutOffTables state.tables userId now)
  | granted (task : TaskId) (userId : Uuid) (quotaBytes : Option Nat) (before : AccountUsage)
    (found : state.task task = some (.granting userId quotaBytes before)) :
    Written state (.grantCommit task)
      (state.tables.writeUser userId (grantedUser quotaBytes before))

section

variable {state : State}

variable {planned : Plan} {task : TaskId}

theorem answer_tables {received : AgentAnswer}
    (success : answer state task received = some planned) : planned.tables = state.tables := by
  unfold answer at success
  split at success
  · obtain ⟨next, _, same⟩ := Option.map_eq_some_iff.mp success
    rw [← same]
  · cases success

theorem rowStart_tables (success : rowStart state task = some planned) :
    planned.tables = state.tables := by
  unfold rowStart at success
  split at success
  · split at success
    · split at success <;>
      · cases success
        rfl
    · cases success
  · cases success

theorem sweepMeasure_tables (success : sweepMeasure state task = some planned) :
    planned.tables = state.tables := by
  unfold sweepMeasure at success
  split at success
  · split at success
    · dsimp only at success
      split at success <;>
      · cases success
        rfl
    · cases success
  · cases success

theorem written_of_eq {event : Event} {tables : Tables} (same : tables = state.tables) :
    Written state event tables := by
  rw [same]
  exact .untouched event

end

section

variable {state : State}

variable {planned : Plan} {now : Instant} {task : TaskId}

theorem finalize_written (success : finalize state task now = some planned) :
    Written state (.finalize task now) planned.tables := by
  unfold finalize at success
  split at success
  · rename_i call applied found
    cases success
    exact .finalized task now call applied found
  · cases success

theorem revokeDevice_written {deviceId : Uuid}
    (success : revokeDevice state deviceId now = some planned) :
    Written state (.revokeDevice deviceId now) planned.tables := by
  unfold revokeDevice at success
  split at success
  · cases success
  split at success
  · cases success
    exact .deviceRevoked deviceId now
  · cases success
    exact .untouched _

theorem recover_written (success : recover state task now = some planned) :
    Written state (.recover task now) planned.tables := by
  unfold recover at success
  split at success
  · rename_i check observed found
    cases success
    exact .recovered task now check observed found
  · cases success

theorem repairFinalize_written (success : repairFinalize state task = some planned) :
    Written state (.repairFinalize task) planned.tables := by
  unfold repairFinalize at success
  split at success
  · rename_i check now succeeded applied found
    cases success
    exact .repaired task check now succeeded applied found
  · cases success

theorem cutOff_written (success : cutOff state task now = some planned) :
    Written state (.cutOff task now) planned.tables := by
  unfold cutOff at success
  split at success
  · rename_i sweep userId account found
    cases success
    exact .spent task sweep now userId account found
  · cases success

theorem grantCommit_written (success : grantCommit state task = some planned) :
    Written state (.grantCommit task) planned.tables := by
  unfold grantCommit at success
  split at success
  · rename_i userId quotaBytes before found
    cases success
    exact .granted task userId quotaBytes before found
  · cases success

theorem plan_written {state : State} {event : Event} (success : plan state event = some planned) :
    Written state event planned.tables := by
  cases event with
  | admin change =>
    cases success
    exact .administered change
  | connectCheck request allowed now =>
    refine written_of_eq ?_
    simp only [plan, connectCheck] at success
    split at success
    · cases success
    · split at success <;>
      · cases success
        rfl
  | connectLookup task => exact .lookedUp task planned success
  | connectCommit task => exact .connected task planned success
  | disconnect request allowed now => exact .disconnected request allowed now planned success
  | answer task received =>
    exact written_of_eq (answer_tables success)
  | finalize task now => exact finalize_written success
  | revokeDevice deviceId now => exact revokeDevice_written success
  | disableUser userId now =>
    cases success
    unfold disableUser
    split
    · exact .userDisabled userId now
    · exact .userDisabled userId now
    · exact .untouched _
  | logout deviceId now | enforceAccessExpiry now =>
    cases success
    exact .marked _ _ now
  | eraseAccount userId now =>
    simp only [plan, eraseAccount] at success
    split at success
    · cases success
    · cases success
      exact .accountErased userId now
  | passBegin pass now =>
    simp only [plan, passBegin] at success
    split at success
    · cases success
    · cases success
      exact .marked _ _ now
  | passRead task batchSize =>
    refine written_of_eq ?_
    simp only [plan, passRead] at success
    split at success <;> cases success
    rfl
  | rowStart task => exact written_of_eq (rowStart_tables success)
  | recover task now => exact recover_written success
  | repairBegin task now => exact .repairBegun task now planned success
  | repairFinalize task => exact repairFinalize_written success
  | recordUsage samples =>
    cases success
    exact .recorded samples
  | forgetReadings gone collectedAt =>
    cases success
    exact .forgotten gone collectedAt
  | sweepMeasure task =>
    exact written_of_eq (sweepMeasure_tables success)
  | cutOff task now => exact cutOff_written success
  | grantCommit task => exact grantCommit_written success
  -- A crash, and the reads that begin a sweep and a grant.
  | crash _ | sweepBegin | grantBegin _ _ =>
    cases success
    exact .untouched _

theorem step_written {next : State} {event : Event} (taken : step state event = some next) :
    Written state event next.tables := by
  obtain ⟨planned, success, committed | aborted⟩ := step_cases taken
  · rw [committed.tables]
    exact plan_written success
  · exact written_of_eq aborted.tables

end

end Nebula.ControlPlane
