import Mathlib.Data.List.Sort
import Nebula.ControlPlane.Revocation

/-!
# Reconciliation passes

`provisioning/reconciliation.py`. A pass marks orphans, reads its candidates once
and then works through them one by one from what it read, so a row can change
between the read, the agent's answer and the write. The WireGuard and the Xray
pass are the same steps over their own table.
-/

namespace Nebula.ControlPlane

open Schema

def State.reconciliationLockHeld (state : State) : Bool :=
  state.tasks.any fun entry => entry.2.holdsReconciliationLock

/-- A pass up to the orphan marking. The usage loop runs both kinds without the lock. -/
def passBegin (state : State) (pass : Pass) (now : Instant) : Option Plan :=
  if pass.locked ∧ state.reconciliationLockHeld then none
  else some ⟨markOrphanedRevoking pass.kind now state.tables, none, none, [.passReading pass]⟩

variable (tables : Tables) (state : State)

def serverRunning (serverId : Uuid) : Bool :=
  (tables.server serverId).any fun server => server.state.running

def isCandidate (pass : Pass) (row : Row) : Bool :=
  row.kind == pass.kind && serverRunning tables row.serverId && row.state.candidate &&
    pass.target.all fun target => row.id == target

def candidates (pass : Pass) (batchSize : Nat) : List Row :=
  ((tables.rows.filter (isCandidate tables pass)).insertionSort fun first second =>
    first.updatedAt ≤ second.updatedAt).take batchSize

def agentProfileCode (row : Row) : Option ProfileCode :=
  match row.kind with
  | .wireguardPeer => none
  | .xrayClient => (tables.profile row.profileId).map Profile.agentCode

def rowCheck (pass : TaskId) (locked : Bool) (row : Row) : RowCheck :=
  ⟨pass, locked, row, agentProfileCode tables row⟩

def passRead (id : TaskId) (batchSize : Nat) : Option Plan :=
  match state.task id with
  | some (.passReading pass) =>
    some ⟨state.tables, some id, none,
      (candidates state.tables pass batchSize).map fun row =>
        .queued (rowCheck state.tables id pass.locked row)⟩
  | _ => none

def State.firstOfPass (id pass : TaskId) : Bool :=
  (state.tasks.find? fun entry => entry.2.rowCheck.any fun check => check.pass == pass).any
    fun entry => entry.1 == id

/-- `_decrypt_client_uuid`: a peer needs no secret. -/
def credentialReadable (row : Row) : Bool :=
  match row.kind with
  | .wireguardPeer => true
  | .xrayClient => (tables.credential row.credentialId).any Credential.readable

def rowStart (id : TaskId) : Option Plan :=
  match state.task id with
  | some (.queued check) =>
    if state.firstOfPass id check.pass then
      if credentialReadable state.tables check.snapshot then
        some ⟨state.tables, some id, some (.probing check), []⟩
      else some (endTask state.tables id)
    else none
  | _ => none

def recoveredGeneration (observed : Option Nat) (applied : Nat) : Nat :=
  match observed with
  | some (generation + 1) => generation + 1
  | _ => if applied > 0 then applied else 1

def recoveredRow (observed : Option Nat) (now : Instant) (row : Row) : Row :=
  match row.state with
  | .applying =>
    { row with
      state := .active
      appliedGeneration := recoveredGeneration observed row.appliedGeneration
      appliedAt := some now
      updatedAt := now }
  | _ => { row with state := .revoked, revokedAt := some now, updatedAt := now }

def recoveredCredential (state : ProvisioningState) (now : Instant) (credential : Credential) :
    Credential :=
  match state with
  | .applying => { credential with state := .active }
  | _ => { credential with state := .revoked, revokedAt := some now }

def finishRunning (row : Row) (state : OperationState) (now : Instant) :
    Tables :=
  match tables.runningOperation row.kind row.id with
  | some operation => tables.writeOperation operation.id (finishOperation state now)
  | none => tables

variable (check : RowCheck) (id : TaskId) (observed : Option Nat) (now : Instant)

/-- `_recover_if_stuck` and `_recover_stuck_xray_client`: the fresh row decides which way. -/
def recoverIfStuck : Tables :=
  match tables.row check.snapshot.id with
  | none => tables
  | some fresh =>
    if fresh.state.stuck then
      finishRunning
        ((tables.writeRow fresh.id (recoveredRow observed now)).writeCredential
          fresh.credentialId (recoveredCredential fresh.state now))
        fresh .succeeded now
    else tables

def recover : Option Plan :=
  match state.task id with
  | some (.recovering check observed) =>
    some (endTask (recoverIfStuck state.tables check observed now) id)
  | _ => none

def maxAttemptCount : Nat := 100

/-- A running operation of the row is taken over, whatever it was for. -/
def repairBegin : Option Plan :=
  match state.task id with
  | some (.repairing check) =>
    match state.tables.runningOperation check.snapshot.kind check.snapshot.id with
    | some operation =>
      some ⟨state.tables.writeOperation operation.id fun operation =>
          { operation with
            attemptCount := min (operation.attemptCount + 1) maxAttemptCount
            startedAt := some now },
        some id, some (.repairCalling check operation.idempotencyKey now), []⟩
    | none =>
      let operation := newOperation state.nextUuid (state.nextUuid + 1)
        check.snapshot.serverId check.operationKind check.snapshot check.desiredGeneration
        1 now
      some ⟨state.tables.addOperation operation, some id,
        some (.repairCalling check operation.idempotencyKey now), []⟩
  | _ => none

variable (wantsPresent succeeded : Bool)

def repairState : ProvisioningState :=
  match wantsPresent, succeeded with
  | true, true => .active
  | false, true => .revoked
  | true, false => .failed
  | false, false => .revoking

def repairedGeneration (applied : Option Nat) (current : Nat) : Nat :=
  match applied with
  | some (generation + 1) => generation + 1
  | _ => current

def repairedRow (applied : Option Nat) (now : Instant)
    (row : Row) : Row :=
  match repairState wantsPresent succeeded with
  | .active =>
    { row with
      state := .active
      appliedGeneration := repairedGeneration applied row.appliedGeneration
      appliedAt := some now
      updatedAt := now }
  | .revoked => { row with state := .revoked, revokedAt := some now, updatedAt := now }
  | state => { row with state := state, updatedAt := now }

def repairedCredential (now : Instant)
    (credential : Credential) : Credential :=
  match repairState wantsPresent succeeded with
  | .revoked => { credential with state := .revoked, revokedAt := some now }
  | state => { credential with state := state }

/-- `_finalize_repair` and `_finalize_xray_repair`: the row's state is not looked at. -/
def finalizeRepair (succeeded : Bool)
    (applied : Option Nat) (now : Instant) : Tables :=
  match tables.row check.snapshot.id with
  | none => tables
  | some row =>
    finishRunning
      ((tables.writeRow row.id
        (repairedRow check.wantsPresent succeeded applied now)).writeCredential
          row.credentialId (repairedCredential check.wantsPresent succeeded now))
      row (if succeeded then .succeeded else .failed) now

def repairFinalize : Option Plan :=
  match state.task id with
  | some (.repairFinalizing check now succeeded applied) =>
    some (endTask (finalizeRepair state.tables check succeeded applied now) id)
  | _ => none

def probeVerdict (outcome : ReconcileOutcome) (observed : Option Nat) :
    Option Task :=
  match outcome with
  | .ambiguous => none
  | .inSync =>
    if check.wantsPresent then
      if check.snapshot.state.stuck then some (.recovering check observed) else none
    else some (.repairing check)
  | .driftDetected =>
    if check.wantsPresent then some (.repairing check)
    else if check.snapshot.state.stuck then some (.recovering check observed) else none

/-- An ambiguous or invalid answer leaves the rows to reconciliation; answers to another kind of
call are ruled out. -/
def resumeCall (call : ServiceCall) : AgentAnswer → Option (Option Task)
  | .applied generation => some (some (.finalizing call (some generation)))
  | .failed _ | .unreachable | .rejected => some (some (.finalizing call none))
  | .ambiguous | .invalid => some none
  | .observed _ _ => none

def resumeProbe : AgentAnswer → Option (Option Task)
  | .observed outcome observed => some (probeVerdict check outcome observed)
  | .unreachable | .rejected | .ambiguous | .invalid => some none
  | .applied _ | .failed _ => none

def resumeRepair : AgentAnswer → Option (Option Task)
  | .applied generation => some (some (.repairFinalizing check now true (some generation)))
  | .failed generation => some (some (.repairFinalizing check now false (some generation)))
  | .unreachable | .rejected => some (some (.repairFinalizing check now false none))
  | .ambiguous | .invalid => some none
  | .observed _ _ => none

def Task.resume : Task → AgentAnswer → Option (Option Task)
  | .calling call, received => resumeCall call received
  | .probing check, received => resumeProbe check received
  | .repairCalling check _ now, received => resumeRepair check now received
  | _, _ => none

def answer (answer : AgentAnswer) : Option Plan :=
  match state.task id with
  | some task => (task.resume answer).map fun next => ⟨state.tables, some id, next, []⟩
  | none => none

end Nebula.ControlPlane
