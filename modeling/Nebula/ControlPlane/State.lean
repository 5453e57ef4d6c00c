import Nebula.Runs
import Nebula.Schema.Tables

/-!
# In-flight work of the control plane

The API process, the timers and the usage loop run many coroutines over one database. Between two
transactions a coroutine only has what it read: a `Task`. A step is a `Plan`: the tables its
transaction writes, how its task goes on, and the tasks it starts. A transaction that breaks a
constraint changes nothing and ends its task.
-/

namespace Nebula.ControlPlane

open Schema Store

abbrev TaskId := Nat

structure AgentRequest where
  idempotencyKey : Uuid
  operationKind : OperationKind
  targetId : Uuid
  desiredGeneration : Nat
  runtime : Runtime
  profileCode : Option ProfileCode
  deriving DecidableEq

inductive AgentCall where
  | operate (request : AgentRequest)
  | reconcile (targetId : Uuid) (desiredGeneration : Nat) (runtime : Runtime)
    (profileCode : Option ProfileCode)
  deriving DecidableEq

structure Envelope where
  task : TaskId
  serverId : Uuid
  call : AgentCall
  deriving DecidableEq

inductive ReconcileOutcome where
  | inSync
  | driftDetected
  | ambiguous
  deriving DecidableEq

/-- `applied` is `active` or `revoked`, by the kind of the request; the last four are exceptions. -/
inductive AgentAnswer where
  | applied (generation : Nat)
  | failed (generation : Nat)
  | observed (outcome : ReconcileOutcome) (generation : Option Nat)
  | unreachable
  | rejected
  | ambiguous
  | invalid
  deriving DecidableEq

/-- A connect past its checks: `request_peer` if it brings a key, else `request_xray_client`. -/
structure Connect where
  deviceId : Uuid
  publicKey : Option PublicKey
  profile : Profile
  server : Server
  capability : Capability
  now : Instant

def Connect.kind (connect : Connect) : TargetKind :=
  match connect.publicKey with
  | some _ => .wireguardPeer
  | none => .xrayClient

structure ServiceCall where
  credentialId : Uuid
  operationId : Uuid
  serverId : Uuid
  request : AgentRequest

structure Pass where
  kind : TargetKind
  locked : Bool
  target : Option Uuid

structure RowCheck where
  pass : TaskId
  locked : Bool
  snapshot : Row
  profileCode : Option ProfileCode

variable (check : RowCheck)

def RowCheck.wantsPresent : Bool :=
  check.snapshot.state != .revoking

def RowCheck.desiredGeneration : Nat :=
  if check.snapshot.appliedGeneration > 0 then check.snapshot.appliedGeneration else 1

def RowCheck.operationKind : OperationKind :=
  if check.wantsPresent then .provisionDevice else .revokeDevice

structure AccountUsage where
  rxBytes : Nat
  txBytes : Nat
  quotaBytes : Option Nat
  baselineBytes : Nat
  exhaustedAt : Option Instant

inductive Task where
  | connectChecked (connect : Connect)
  | connectAllocated (connect : Connect) (address : Option IPAddress)
  | calling (call : ServiceCall)
  | finalizing (call : ServiceCall) (applied : Option Nat)
  | passReading (pass : Pass)
  | queued (check : RowCheck)
  | probing (check : RowCheck)
  | recovering (check : RowCheck) (observed : Option Nat)
  | repairing (check : RowCheck)
  | repairCalling (check : RowCheck) (idempotencyKey : Uuid) (now : Instant)
  | repairFinalizing (check : RowCheck) (now : Instant) (succeeded : Bool)
    (applied : Option Nat)
  | sweeping (sweep : TaskId) (userId : Uuid)
  | cuttingOff (sweep : TaskId) (userId : Uuid) (account : AccountUsage)
  | granting (userId : Uuid) (quotaBytes : Option Nat) (before : AccountUsage)

def RowCheck.request (idempotencyKey : Uuid) : AgentRequest where
  idempotencyKey := idempotencyKey
  operationKind := check.operationKind
  targetId := check.snapshot.id
  desiredGeneration := check.desiredGeneration
  runtime := check.snapshot.runtime
  profileCode := check.profileCode

def Task.outgoing : Task → Option (Uuid × AgentCall)
  | .calling call => some (call.serverId, .operate call.request)
  | .probing check =>
    some (check.snapshot.serverId,
      .reconcile check.snapshot.id check.desiredGeneration check.snapshot.runtime
        check.profileCode)
  | .repairCalling check idempotencyKey _ =>
    some (check.snapshot.serverId, .operate (check.request idempotencyKey))
  | _ => none

def Task.rowCheck : Task → Option RowCheck
  | .queued check | .probing check | .recovering check _ | .repairing check
  | .repairCalling check _ _ | .repairFinalizing check _ _ _ => some check
  | _ => none

def Task.connect : Task → Option Connect
  | .connectChecked connect | .connectAllocated connect _ => some connect
  | _ => none

/-- From its capacity check to its commit a connect holds its server's advisory lock. -/
def Task.allocating : Task → Option Connect
  | .connectAllocated connect _ => some connect
  | _ => none

/-- Held by a pass that took `reconciliation_lock`, from its start to its last row. -/
def Task.holdsReconciliationLock : Task → Bool
  | .passReading pass => pass.locked
  | task => match task.rowCheck with
    | some check => check.locked
    | none => false

structure State where
  database : Database
  tasks : List (TaskId × Task)
  nextTask : TaskId
  nextUuid : Uuid
  sent : List Envelope

def State.tables (state : State) : Tables :=
  state.database.tables

def State.task (state : State) (id : TaskId) : Option Task :=
  (lookup Prod.fst id state.tasks).map Prod.snd

structure Plan where
  tables : Tables
  task : Option TaskId
  next : Option Task
  spawned : List Task

def replaceTask (tasks : List (TaskId × Task)) : Option TaskId → Option Task →
    List (TaskId × Task)
  | none, _ => tasks
  | some id, none => tasks.filter fun entry => entry.1 != id
  | some id, some next => tasks.map fun entry => if entry.1 = id then (id, next) else entry

def numberFrom : TaskId → List Task → List (TaskId × Task)
  | _, [] => []
  | id, task :: rest => (id, task) :: numberFrom (id + 1) rest

def Plan.started (plan : Plan) (nextTask : TaskId) : List (TaskId × Task) :=
  (match plan.task, plan.next with
    | some id, some next => [(id, next)]
    | _, _ => []) ++ numberFrom nextTask plan.spawned

def envelopes (started : List (TaskId × Task)) : List Envelope :=
  started.filterMap fun entry =>
    entry.2.outgoing.map fun outgoing => ⟨entry.1, outgoing.1, outgoing.2⟩

/-- `uuid4()` draws the next unused identifiers; no step draws more than five. -/
def uuidsPerStep : Nat := 5

def State.carryOut (state : State) (plan : Plan) : State :=
  match commit plan.tables with
  | some database =>
    { database := database
      tasks := replaceTask state.tasks plan.task plan.next ++
        numberFrom state.nextTask plan.spawned
      nextTask := state.nextTask + plan.spawned.length
      nextUuid := state.nextUuid + uuidsPerStep
      sent := state.sent ++ envelopes (plan.started state.nextTask) }
  | none =>
    { state with
      tasks := replaceTask state.tasks plan.task none
      nextUuid := state.nextUuid + uuidsPerStep }

end Nebula.ControlPlane
